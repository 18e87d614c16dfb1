/-!
# The table of shortcodes

The words for pictures, as one text. An entry is the code points of a picture in hexadecimal, with a
hyphen between them, and the words for it; entries are parted by commas. A word with a tilde before
it names a picture of people, for which there are further words, one for each tone of skin.
-/

set_option autoImplicit false

namespace SpiceKit
namespace Shortcode

def entries : String := "
23-20E3 keycap_number_sign, 23-FE0F-20E3 keycap_#, 2A-20E3 keycap_asterisk, 2A-FE0F-20E3 keycap_*,
30-20E3 keycap_digit_zero, 30-FE0F-20E3 keycap_0 zero, 31-20E3 keycap_digit_one,
31-FE0F-20E3 keycap_1 one, 32-20E3 keycap_digit_two, 32-FE0F-20E3 keycap_2 two,
33-20E3 keycap_digit_three, 33-FE0F-20E3 keycap_3 three, 34-20E3 keycap_digit_four,
34-FE0F-20E3 four keycap_4, 35-20E3 keycap_digit_five, 35-FE0F-20E3 five keycap_5,
36-20E3 keycap_digit_six, 36-FE0F-20E3 keycap_6 six, 37-20E3 keycap_digit_seven,
37-FE0F-20E3 keycap_7 seven, 38-20E3 keycap_digit_eight, 38-FE0F-20E3 eight keycap_8,
39-20E3 keycap_digit_nine, 39-FE0F-20E3 keycap_9 nine, A9 copyright, AE registered,
203C bangbang double_exclamation_mark, 2049 exclamation_question_mark interrobang,
2122 tm trade_mark, 2139 information information_source, 2194 left-right_arrow left_right_arrow,
2195 arrow_up_down up-down_arrow, 2196 arrow_upper_left up-left_arrow,
2197 arrow_upper_right up-right_arrow, 2198 arrow_lower_right down-right_arrow,
2199 arrow_lower_left down-left_arrow, 21A9 leftwards_arrow_with_hook right_arrow_curving_left,
21AA arrow_right_hook left_arrow_curving_right, 231A watch, 231B hourglass hourglass_done,
2328 keyboard, 2388 helm_symbol, 23CF eject_button eject_symbol,
23E9 fast-forward_button fast_forward, 23EA fast_reverse_button rewind,
23EB arrow_double_up fast_up_button, 23EC arrow_double_down fast_down_button,
23ED black_right__pointing_double_triangle_with_vertical_bar next_track_button,
23EE black_left__pointing_double_triangle_with_vertical_bar last_track_button,
23EF black_right__pointing_triangle_with_double_vertical_bar play_or_pause_button,
23F0 alarm_clock, 23F1 stopwatch, 23F2 timer_clock, 23F3 hourglass_flowing_sand hourglass_not_done,
23F8 double_vertical_bar pause_button, 23F9 black_square_for_stop stop_button,
23FA black_circle_for_record record_button, 24C2 circled_m m, 25AA black_small_square,
25AB white_small_square, 25B6 arrow_forward play_button, 25C0 arrow_backward reverse_button,
25FB white_medium_square, 25FC black_medium_square,
25FD white_medium-small_square white_medium_small_square,
25FE black_medium-small_square black_medium_small_square, 2600 sun sunny, 2601 cloud,
2602 umbrella, 2603 snowman, 2604 comet, 260E phone telephone, 2611 ballot_box_with_check,
2614 umbrella_with_rain_drops, 2615 coffee hot_beverage, 2618 shamrock,
261D ~index_pointing_up point_up, 2620 skull_and_crossbones, 2622 radioactive radioactive_sign,
2623 biohazard biohazard_sign, 2626 orthodox_cross, 262A star_and_crescent, 262E peace_symbol,
262F yin_yang, 2638 wheel_of_dharma, 2639 frowning_face white_frowning_face,
263A relaxed smiling_face, 2640 female_sign, 2642 male_sign, 2648 aries, 2649 taurus, 264A gemini,
264B cancer, 264C leo, 264D virgo, 264E libra, 264F scorpio scorpius, 2650 sagittarius,
2651 capricorn, 2652 aquarius, 2653 pisces, 265F chess_pawn, 2660 spade_suit spades,
2663 club_suit clubs, 2665 heart_suit hearts, 2666 diamond_suit diamonds,
2668 hot_springs hotsprings, 267B recycle recycling_symbol, 267E infinity,
267F wheelchair wheelchair_symbol, 2692 hammer_and_pick, 2693 anchor, 2694 crossed_swords,
2695 medical_symbol, 2696 balance_scale scales, 2697 alembic, 2699 gear, 269B atom_symbol,
269C fleur-de-lis fleur__de__lis, 26A0 warning, 26A1 high_voltage zap, 26AA white_circle,
26AB black_circle, 26B0 coffin, 26B1 funeral_urn, 26BD soccer soccer_ball, 26BE baseball,
26C4 snowman_without_snow, 26C5 partly_sunny sun_behind_cloud,
26C8 cloud_with_lightning_and_rain thunder_cloud_and_rain, 26CE ophiuchus, 26CF pick,
26D1 helmet_with_white_cross rescue_worker’s_helmet, 26D3 chains, 26D4 no_entry,
26E9 shinto_shrine, 26EA church, 26F0 mountain, 26F1 umbrella_on_ground, 26F2 fountain,
26F3 flag_in_hole golf, 26F4 ferry, 26F5 boat sailboat, 26F7 skier, 26F8 ice_skate,
26F9 ~person_bouncing_ball person_with_ball, 26F9-FE0F-200D-2640-FE0F ~woman_bouncing_ball,
26F9-FE0F-200D-2642-FE0F ~man_bouncing_ball, 26FA tent, 26FD fuel_pump fuelpump, 2702 scissors,
2705 white_check_mark white_heavy_check_mark, 2708 airplane, 2709 email envelope,
270A fist ~raised_fist, 270B hand ~raised_hand, 270C v ~victory_hand, 270D ~writing_hand,
270F pencil2, 2712 black_nib, 2714 heavy_check_mark, 2716 heavy_multiplication_x, 271D latin_cross,
2721 star_of_david, 2728 sparkles, 2733 eight-spoked_asterisk eight_spoked_asterisk,
2734 eight-pointed_star eight_pointed_black_star, 2744 snowflake, 2747 sparkle, 274C cross_mark x,
274E cross_mark_button negative_squared_cross_mark, 2753 question question_mark,
2754 grey_question white_question_mark, 2755 grey_exclamation white_exclamation_mark,
2757 exclamation exclamation_mark heavy_exclamation_mark,
2763 heavy_heart_exclamation heavy_heart_exclamation_mark_ornament, 2764 heart red_heart,
2795 heavy_plus_sign, 2796 heavy_minus_sign, 2797 heavy_division_sign,
27A1 arrow_right right_arrow, 27B0 curly_loop, 27BF double_curly_loop loop,
2934 arrow_heading_up right_arrow_curving_up, 2935 arrow_heading_down right_arrow_curving_down,
2B05 arrow_left left_arrow, 2B06 arrow_up up_arrow, 2B07 arrow_down down_arrow,
2B1B black_large_square, 2B1C white_large_square, 2B50 star white_medium_star,
2B55 heavy_large_circle o, 3030 wavy_dash, 303D part_alternation_mark,
3297 congratulations japanese_congratulations_button, 3299 japanese_secret_button secret,
1F004 mahjong mahjong_red_dragon, 1F0CF black_joker joker, 1F170 a a_button_(blood_type),
1F171 b b_button_(blood_type), 1F17E o2 o_button_(blood_type), 1F17F p_button parking,
1F18E ab ab_button_(blood_type), 1F191 cl cl_button, 1F192 cool cool_button,
1F193 free free_button, 1F194 id id_button, 1F195 new new_button, 1F196 ng ng_button,
1F197 ok ok_button, 1F198 sos sos_button, 1F199 up up!_button, 1F19A vs vs_button,
1F1E6 regional_indicator_a regional_indicator_symbol_letter_a,
1F1E6-1F1E8 ascension_island flag_for_ascension_island, 1F1E6-1F1E9 andorra flag_for_andorra,
1F1E6-1F1EA flag_for_united_arab_emirates united_arab_emirates,
1F1E6-1F1EB afghanistan flag_for_afghanistan,
1F1E6-1F1EC antigua_&_barbuda flag_for_antigua_&_barbuda, 1F1E6-1F1EE anguilla flag_for_anguilla,
1F1E6-1F1F1 albania flag_for_albania, 1F1E6-1F1F2 armenia flag_for_armenia,
1F1E6-1F1F4 angola flag_for_angola, 1F1E6-1F1F6 antarctica flag_for_antarctica,
1F1E6-1F1F7 argentina flag_for_argentina, 1F1E6-1F1F8 american_samoa flag_for_american_samoa,
1F1E6-1F1F9 austria flag_for_austria, 1F1E6-1F1FA australia flag_for_australia,
1F1E6-1F1FC aruba flag_for_aruba, 1F1E6-1F1FD flag_for_åland_islands åland_islands,
1F1E6-1F1FF azerbaijan flag_for_azerbaijan,
1F1E7 regional_indicator_b regional_indicator_symbol_letter_b,
1F1E7-1F1E6 bosnia_&_herzegovina flag_for_bosnia_&_herzegovina,
1F1E7-1F1E7 barbados flag_for_barbados, 1F1E7-1F1E9 bangladesh flag_for_bangladesh,
1F1E7-1F1EA belgium flag_for_belgium, 1F1E7-1F1EB burkina_faso flag_for_burkina_faso,
1F1E7-1F1EC bulgaria flag_for_bulgaria, 1F1E7-1F1ED bahrain flag_for_bahrain,
1F1E7-1F1EE burundi flag_for_burundi, 1F1E7-1F1EF benin flag_for_benin,
1F1E7-1F1F1 flag_for_st._barthélemy st._barthélemy, 1F1E7-1F1F2 bermuda flag_for_bermuda,
1F1E7-1F1F3 brunei flag_for_brunei, 1F1E7-1F1F4 bolivia flag_for_bolivia,
1F1E7-1F1F6 caribbean_netherlands flag_for_caribbean_netherlands,
1F1E7-1F1F7 brazil flag_for_brazil, 1F1E7-1F1F8 bahamas flag_for_bahamas,
1F1E7-1F1F9 bhutan flag_for_bhutan, 1F1E7-1F1FB bouvet_island flag_for_bouvet_island,
1F1E7-1F1FC botswana flag_for_botswana, 1F1E7-1F1FE belarus flag_for_belarus,
1F1E7-1F1FF belize flag_for_belize, 1F1E8 regional_indicator_c regional_indicator_symbol_letter_c,
1F1E8-1F1E6 canada flag_for_canada, 1F1E8-1F1E8 cocos_(keeling)_islands flag_for_cocos__islands,
1F1E8-1F1E9 congo_-_kinshasa flag_for_congo____kinshasa,
1F1E8-1F1EB central_african_republic flag_for_central_african_republic,
1F1E8-1F1EC congo_-_brazzaville flag_for_congo____brazzaville,
1F1E8-1F1ED flag_for_switzerland switzerland, 1F1E8-1F1EE côte_d’ivoire flag_for_côte_d’ivoire,
1F1E8-1F1F0 cook_islands flag_for_cook_islands, 1F1E8-1F1F1 chile flag_for_chile,
1F1E8-1F1F2 cameroon flag_for_cameroon, 1F1E8-1F1F3 china flag_for_china,
1F1E8-1F1F4 colombia flag_for_colombia, 1F1E8-1F1F5 clipperton_island flag_for_clipperton_island,
1F1E8-1F1F7 costa_rica flag_for_costa_rica, 1F1E8-1F1FA cuba flag_for_cuba,
1F1E8-1F1FB cape_verde flag_for_cape_verde, 1F1E8-1F1FC curaçao flag_for_curaçao,
1F1E8-1F1FD christmas_island flag_for_christmas_island, 1F1E8-1F1FE cyprus flag_for_cyprus,
1F1E8-1F1FF czechia flag_for_czech_republic,
1F1E9 regional_indicator_d regional_indicator_symbol_letter_d,
1F1E9-1F1EA flag_for_germany germany, 1F1E9-1F1EC diego_garcia flag_for_diego_garcia,
1F1E9-1F1EF djibouti flag_for_djibouti, 1F1E9-1F1F0 denmark flag_for_denmark,
1F1E9-1F1F2 dominica flag_for_dominica, 1F1E9-1F1F4 dominican_republic flag_for_dominican_republic,
1F1E9-1F1FF algeria flag_for_algeria,
1F1EA regional_indicator_e regional_indicator_symbol_letter_e,
1F1EA-1F1E6 ceuta_&_melilla flag_for_ceuta_&_melilla, 1F1EA-1F1E8 ecuador flag_for_ecuador,
1F1EA-1F1EA estonia flag_for_estonia, 1F1EA-1F1EC egypt flag_for_egypt,
1F1EA-1F1ED flag_for_western_sahara western_sahara, 1F1EA-1F1F7 eritrea flag_for_eritrea,
1F1EA-1F1F8 flag_for_spain spain, 1F1EA-1F1F9 ethiopia flag_for_ethiopia,
1F1EA-1F1FA european_union flag_for_european_union,
1F1EB regional_indicator_f regional_indicator_symbol_letter_f,
1F1EB-1F1EE finland flag_for_finland, 1F1EB-1F1EF fiji flag_for_fiji,
1F1EB-1F1F0 falkland_islands flag_for_falkland_islands, 1F1EB-1F1F2 flag_for_micronesia micronesia,
1F1EB-1F1F4 faroe_islands flag_for_faroe_islands, 1F1EB-1F1F7 flag_for_france france,
1F1EC regional_indicator_g regional_indicator_symbol_letter_g, 1F1EC-1F1E6 flag_for_gabon gabon,
1F1EC-1F1E7 flag_for_united_kingdom united_kingdom, 1F1EC-1F1E9 flag_for_grenada grenada,
1F1EC-1F1EA flag_for_georgia georgia, 1F1EC-1F1EB flag_for_french_guiana french_guiana,
1F1EC-1F1EC flag_for_guernsey guernsey, 1F1EC-1F1ED flag_for_ghana ghana,
1F1EC-1F1EE flag_for_gibraltar gibraltar, 1F1EC-1F1F1 flag_for_greenland greenland,
1F1EC-1F1F2 flag_for_gambia gambia, 1F1EC-1F1F3 flag_for_guinea guinea,
1F1EC-1F1F5 flag_for_guadeloupe guadeloupe,
1F1EC-1F1F6 equatorial_guinea flag_for_equatorial_guinea, 1F1EC-1F1F7 flag_for_greece greece,
1F1EC-1F1F8 flag_for_south_georgia_&_south_sandwich_islands south_georgia_&_south_sandwich_islands,
1F1EC-1F1F9 flag_for_guatemala guatemala, 1F1EC-1F1FA flag_for_guam guam,
1F1EC-1F1FC flag_for_guinea__bissau guinea-bissau, 1F1EC-1F1FE flag_for_guyana guyana,
1F1ED regional_indicator_h regional_indicator_symbol_letter_h,
1F1ED-1F1F0 flag_for_hong_kong hong_kong_sar_china,
1F1ED-1F1F2 flag_for_heard_&_mcdonald_islands heard_&_mcdonald_islands,
1F1ED-1F1F3 flag_for_honduras honduras, 1F1ED-1F1F7 croatia flag_for_croatia,
1F1ED-1F1F9 flag_for_haiti haiti, 1F1ED-1F1FA flag_for_hungary hungary,
1F1EE regional_indicator_i regional_indicator_symbol_letter_i,
1F1EE-1F1E8 canary_islands flag_for_canary_islands, 1F1EE-1F1E9 flag_for_indonesia indonesia,
1F1EE-1F1EA flag_for_ireland ireland, 1F1EE-1F1F1 flag_for_israel israel,
1F1EE-1F1F2 flag_for_isle_of_man isle_of_man, 1F1EE-1F1F3 flag_for_india india,
1F1EE-1F1F4 british_indian_ocean_territory flag_for_british_indian_ocean_territory,
1F1EE-1F1F6 flag_for_iraq iraq, 1F1EE-1F1F7 flag_for_iran iran,
1F1EE-1F1F8 flag_for_iceland iceland, 1F1EE-1F1F9 flag_for_italy italy,
1F1EF regional_indicator_j regional_indicator_symbol_letter_j, 1F1EF-1F1EA flag_for_jersey jersey,
1F1EF-1F1F2 flag_for_jamaica jamaica, 1F1EF-1F1F4 flag_for_jordan jordan,
1F1EF-1F1F5 flag_for_japan, 1F1F0 regional_indicator_k regional_indicator_symbol_letter_k,
1F1F0-1F1EA flag_for_kenya kenya, 1F1F0-1F1EC flag_for_kyrgyzstan kyrgyzstan,
1F1F0-1F1ED cambodia flag_for_cambodia, 1F1F0-1F1EE flag_for_kiribati kiribati,
1F1F0-1F1F2 comoros flag_for_comoros, 1F1F0-1F1F3 flag_for_st._kitts_&_nevis st._kitts_&_nevis,
1F1F0-1F1F5 flag_for_north_korea north_korea, 1F1F0-1F1F7 flag_for_south_korea south_korea,
1F1F0-1F1FC flag_for_kuwait kuwait, 1F1F0-1F1FE cayman_islands flag_for_cayman_islands,
1F1F0-1F1FF flag_for_kazakhstan kazakhstan,
1F1F1 regional_indicator_l regional_indicator_symbol_letter_l, 1F1F1-1F1E6 flag_for_laos laos,
1F1F1-1F1E7 flag_for_lebanon lebanon, 1F1F1-1F1E8 flag_for_st._lucia st._lucia,
1F1F1-1F1EE flag_for_liechtenstein liechtenstein, 1F1F1-1F1F0 flag_for_sri_lanka sri_lanka,
1F1F1-1F1F7 flag_for_liberia liberia, 1F1F1-1F1F8 flag_for_lesotho lesotho,
1F1F1-1F1F9 flag_for_lithuania lithuania, 1F1F1-1F1FA flag_for_luxembourg luxembourg,
1F1F1-1F1FB flag_for_latvia latvia, 1F1F1-1F1FE flag_for_libya libya,
1F1F2 regional_indicator_m regional_indicator_symbol_letter_m,
1F1F2-1F1E6 flag_for_morocco morocco, 1F1F2-1F1E8 flag_for_monaco monaco,
1F1F2-1F1E9 flag_for_moldova moldova, 1F1F2-1F1EA flag_for_montenegro montenegro,
1F1F2-1F1EB flag_for_st._martin st._martin, 1F1F2-1F1EC flag_for_madagascar madagascar,
1F1F2-1F1ED flag_for_marshall_islands marshall_islands, 1F1F2-1F1F0 flag_for_macedonia macedonia,
1F1F2-1F1F1 flag_for_mali mali, 1F1F2-1F1F2 flag_for_myanmar myanmar_(burma),
1F1F2-1F1F3 flag_for_mongolia mongolia, 1F1F2-1F1F4 flag_for_macau macau_sar_china,
1F1F2-1F1F5 flag_for_northern_mariana_islands northern_mariana_islands,
1F1F2-1F1F6 flag_for_martinique martinique, 1F1F2-1F1F7 flag_for_mauritania mauritania,
1F1F2-1F1F8 flag_for_montserrat montserrat, 1F1F2-1F1F9 flag_for_malta malta,
1F1F2-1F1FA flag_for_mauritius mauritius, 1F1F2-1F1FB flag_for_maldives maldives,
1F1F2-1F1FC flag_for_malawi malawi, 1F1F2-1F1FD flag_for_mexico mexico,
1F1F2-1F1FE flag_for_malaysia malaysia, 1F1F2-1F1FF flag_for_mozambique mozambique,
1F1F3 regional_indicator_n regional_indicator_symbol_letter_n,
1F1F3-1F1E6 flag_for_namibia namibia, 1F1F3-1F1E8 flag_for_new_caledonia new_caledonia,
1F1F3-1F1EA flag_for_niger niger, 1F1F3-1F1EB flag_for_norfolk_island norfolk_island,
1F1F3-1F1EC flag_for_nigeria nigeria, 1F1F3-1F1EE flag_for_nicaragua nicaragua,
1F1F3-1F1F1 flag_for_netherlands netherlands, 1F1F3-1F1F4 flag_for_norway norway,
1F1F3-1F1F5 flag_for_nepal nepal, 1F1F3-1F1F7 flag_for_nauru nauru, 1F1F3-1F1FA flag_for_niue niue,
1F1F3-1F1FF flag_for_new_zealand new_zealand,
1F1F4 regional_indicator_o regional_indicator_symbol_letter_o, 1F1F4-1F1F2 flag_for_oman oman,
1F1F5 regional_indicator_p regional_indicator_symbol_letter_p, 1F1F5-1F1E6 flag_for_panama panama,
1F1F5-1F1EA flag_for_peru peru, 1F1F5-1F1EB flag_for_french_polynesia french_polynesia,
1F1F5-1F1EC flag_for_papua_new_guinea papua_new_guinea,
1F1F5-1F1ED flag_for_philippines philippines, 1F1F5-1F1F0 flag_for_pakistan pakistan,
1F1F5-1F1F1 flag_for_poland poland,
1F1F5-1F1F2 flag_for_st._pierre_&_miquelon st._pierre_&_miquelon,
1F1F5-1F1F3 flag_for_pitcairn_islands pitcairn_islands,
1F1F5-1F1F7 flag_for_puerto_rico puerto_rico,
1F1F5-1F1F8 flag_for_palestinian_territories palestinian_territories,
1F1F5-1F1F9 flag_for_portugal portugal, 1F1F5-1F1FC flag_for_palau palau,
1F1F5-1F1FE flag_for_paraguay paraguay,
1F1F6 regional_indicator_q regional_indicator_symbol_letter_q, 1F1F6-1F1E6 flag_for_qatar qatar,
1F1F7 regional_indicator_r regional_indicator_symbol_letter_r,
1F1F7-1F1EA flag_for_réunion réunion, 1F1F7-1F1F4 flag_for_romania romania,
1F1F7-1F1F8 flag_for_serbia serbia, 1F1F7-1F1FA flag_for_russia russia,
1F1F7-1F1FC flag_for_rwanda rwanda, 1F1F8 regional_indicator_s regional_indicator_symbol_letter_s,
1F1F8-1F1E6 flag_for_saudi_arabia saudi_arabia,
1F1F8-1F1E7 flag_for_solomon_islands solomon_islands, 1F1F8-1F1E8 flag_for_seychelles seychelles,
1F1F8-1F1E9 flag_for_sudan sudan, 1F1F8-1F1EA flag_for_sweden sweden,
1F1F8-1F1EC flag_for_singapore singapore, 1F1F8-1F1ED flag_for_st._helena st._helena,
1F1F8-1F1EE flag_for_slovenia slovenia,
1F1F8-1F1EF flag_for_svalbard_&_jan_mayen svalbard_&_jan_mayen,
1F1F8-1F1F0 flag_for_slovakia slovakia, 1F1F8-1F1F1 flag_for_sierra_leone sierra_leone,
1F1F8-1F1F2 flag_for_san_marino san_marino, 1F1F8-1F1F3 flag_for_senegal senegal,
1F1F8-1F1F4 flag_for_somalia somalia, 1F1F8-1F1F7 flag_for_suriname suriname,
1F1F8-1F1F8 flag_for_south_sudan south_sudan,
1F1F8-1F1F9 flag_for_são_tomé_&_príncipe são_tomé_&_príncipe,
1F1F8-1F1FB el_salvador flag_for_el_salvador, 1F1F8-1F1FD flag_for_sint_maarten sint_maarten,
1F1F8-1F1FE flag_for_syria syria, 1F1F8-1F1FF flag_for_swaziland swaziland,
1F1F9 regional_indicator_symbol_letter_t regional_indicator_t,
1F1F9-1F1E6 flag_for_tristan_da_cunha tristan_da_cunha,
1F1F9-1F1E8 flag_for_turks_&_caicos_islands turks_&_caicos_islands, 1F1F9-1F1E9 chad flag_for_chad,
1F1F9-1F1EB flag_for_french_southern_territories french_southern_territories,
1F1F9-1F1EC flag_for_togo togo, 1F1F9-1F1ED flag_for_thailand thailand,
1F1F9-1F1EF flag_for_tajikistan tajikistan, 1F1F9-1F1F0 flag_for_tokelau tokelau,
1F1F9-1F1F1 flag_for_timor__leste timor-leste, 1F1F9-1F1F2 flag_for_turkmenistan turkmenistan,
1F1F9-1F1F3 flag_for_tunisia tunisia, 1F1F9-1F1F4 flag_for_tonga tonga,
1F1F9-1F1F7 flag_for_turkey, 1F1F9-1F1F9 flag_for_trinidad_&_tobago trinidad_&_tobago,
1F1F9-1F1FB flag_for_tuvalu tuvalu, 1F1F9-1F1FC flag_for_taiwan taiwan,
1F1F9-1F1FF flag_for_tanzania tanzania,
1F1FA regional_indicator_symbol_letter_u regional_indicator_u,
1F1FA-1F1E6 flag_for_ukraine ukraine, 1F1FA-1F1EC flag_for_uganda uganda,
1F1FA-1F1F2 flag_for_u.s._outlying_islands u.s._outlying_islands, 1F1FA-1F1F3 united_nations,
1F1FA-1F1F8 flag_for_united_states united_states, 1F1FA-1F1FE flag_for_uruguay uruguay,
1F1FA-1F1FF flag_for_uzbekistan uzbekistan,
1F1FB regional_indicator_symbol_letter_v regional_indicator_v,
1F1FB-1F1E6 flag_for_vatican_city vatican_city,
1F1FB-1F1E8 flag_for_st._vincent_&_grenadines st._vincent_&_grenadines,
1F1FB-1F1EA flag_for_venezuela venezuela,
1F1FB-1F1EC british_virgin_islands flag_for_british_virgin_islands,
1F1FB-1F1EE flag_for_u.s._virgin_islands u.s._virgin_islands, 1F1FB-1F1F3 flag_for_vietnam vietnam,
1F1FB-1F1FA flag_for_vanuatu vanuatu,
1F1FC regional_indicator_symbol_letter_w regional_indicator_w,
1F1FC-1F1EB flag_for_wallis_&_futuna wallis_&_futuna, 1F1FC-1F1F8 flag_for_samoa samoa,
1F1FD regional_indicator_symbol_letter_x regional_indicator_x, 1F1FD-1F1F0 flag_for_kosovo kosovo,
1F1FE regional_indicator_symbol_letter_y regional_indicator_y, 1F1FE-1F1EA flag_for_yemen yemen,
1F1FE-1F1F9 flag_for_mayotte mayotte,
1F1FF regional_indicator_symbol_letter_z regional_indicator_z,
1F1FF-1F1E6 flag_for_south_africa south_africa, 1F1FF-1F1F2 flag_for_zambia zambia,
1F1FF-1F1FC flag_for_zimbabwe zimbabwe, 1F201 japanese_here_button koko,
1F202 japanese_service_charge_button sa, 1F21A japanese_free_of_charge_button u7121,
1F22F japanese_reserved_button u6307, 1F232 japanese_prohibited_button u7981,
1F233 japanese_vacancy_button u7a7a, 1F234 japanese_passing_grade_button u5408,
1F235 japanese_no_vacancy_button u6e80, 1F236 japanese_not_free_of_charge_button u6709,
1F237 japanese_monthly_amount_button u6708, 1F238 japanese_application_button u7533,
1F239 japanese_discount_button u5272, 1F23A japanese_open_for_business_button u55b6,
1F250 ideograph_advantage japanese_bargain_button, 1F251 accept japanese_acceptable_button,
1F300 cyclone, 1F301 foggy, 1F302 closed_umbrella, 1F303 night_with_stars,
1F304 sunrise_over_mountains, 1F305 sunrise, 1F306 city_sunset cityscape_at_dusk,
1F307 city_sunrise sunset, 1F308 rainbow, 1F309 bridge_at_night, 1F30A ocean water_wave,
1F30B volcano, 1F30C milky_way, 1F30D earth_africa globe_showing_europe-africa,
1F30E earth_americas globe_showing_americas, 1F30F earth_asia globe_showing_asia-australia,
1F310 globe_with_meridians, 1F311 new_moon, 1F312 waxing_crescent_moon, 1F313 first_quarter_moon,
1F314 moon waxing_gibbous_moon, 1F315 full_moon, 1F316 waning_gibbous_moon,
1F317 last_quarter_moon, 1F318 waning_crescent_moon, 1F319 crescent_moon,
1F31A new_moon_face new_moon_with_face, 1F31B first_quarter_moon_face first_quarter_moon_with_face,
1F31C last_quarter_moon_face last_quarter_moon_with_face, 1F31D full_moon_face full_moon_with_face,
1F31E sun_with_face, 1F31F glowing_star star2, 1F320 shooting_star stars, 1F321 thermometer,
1F324 sun_behind_small_cloud white_sun_with_small_cloud,
1F325 sun_behind_large_cloud white_sun_behind_cloud,
1F326 sun_behind_rain_cloud white_sun_behind_cloud_with_rain, 1F327 cloud_with_rain,
1F328 cloud_with_snow, 1F329 cloud_with_lightning, 1F32A cloud_with_tornado tornado, 1F32B fog,
1F32C wind_blowing_face wind_face, 1F32D hot_dog, 1F32E taco, 1F32F burrito, 1F330 chestnut,
1F331 seedling, 1F332 evergreen_tree, 1F333 deciduous_tree, 1F334 palm_tree, 1F335 cactus,
1F336 hot_pepper, 1F337 tulip, 1F338 cherry_blossom, 1F339 rose, 1F33A hibiscus, 1F33B sunflower,
1F33C blossom, 1F33D corn ear_of_corn, 1F33E ear_of_rice sheaf_of_rice, 1F33F herb,
1F340 four_leaf_clover, 1F341 maple_leaf, 1F342 fallen_leaf, 1F343 leaf_fluttering_in_wind leaves,
1F344 mushroom, 1F345 tomato, 1F346 eggplant, 1F347 grapes, 1F348 melon, 1F349 watermelon,
1F34A tangerine, 1F34B lemon, 1F34C banana, 1F34D pineapple, 1F34E apple red_apple,
1F34F green_apple, 1F350 pear, 1F351 peach, 1F352 cherries, 1F353 strawberry, 1F354 hamburger,
1F355 pizza, 1F356 meat_on_bone, 1F357 poultry_leg, 1F358 rice_cracker, 1F359 rice_ball,
1F35A cooked_rice rice, 1F35B curry curry_rice, 1F35C ramen steaming_bowl, 1F35D spaghetti,
1F35E bread, 1F35F french_fries fries, 1F360 roasted_sweet_potato sweet_potato, 1F361 dango,
1F362 oden, 1F363 sushi, 1F364 fried_shrimp, 1F365 fish_cake fish_cake_with_swirl,
1F366 icecream soft_ice_cream, 1F367 shaved_ice, 1F368 ice_cream, 1F369 doughnut, 1F36A cookie,
1F36B chocolate_bar, 1F36C candy, 1F36D lollipop, 1F36E custard, 1F36F honey_pot,
1F370 cake shortcake, 1F371 bento bento_box, 1F372 pot_of_food stew, 1F373 cooking egg,
1F374 fork_and_knife, 1F375 tea teacup_without_handle, 1F376 sake, 1F377 wine_glass,
1F378 cocktail cocktail_glass, 1F379 tropical_drink, 1F37A beer beer_mug,
1F37B beers clinking_beer_mugs, 1F37C baby_bottle, 1F37D fork_and_knife_with_plate,
1F37E bottle_with_popping_cork, 1F37F popcorn, 1F380 ribbon, 1F381 gift wrapped_gift,
1F382 birthday birthday_cake, 1F383 jack-o-lantern jack_o_lantern, 1F384 christmas_tree,
1F385 santa ~santa_claus, 1F386 fireworks, 1F387 sparkler, 1F388 balloon, 1F389 party_popper tada,
1F38A confetti_ball, 1F38B tanabata_tree, 1F38C crossed_flags, 1F38D bamboo pine_decoration,
1F38E dolls japanese_dolls, 1F38F carp_streamer flags, 1F390 wind_chime,
1F391 moon_viewing_ceremony rice_scene, 1F392 school_backpack school_satchel,
1F393 graduation_cap mortar_board, 1F396 military_medal, 1F397 reminder_ribbon,
1F399 studio_microphone, 1F39A level_slider, 1F39B control_knobs, 1F39E film_frames,
1F39F admission_tickets, 1F3A0 carousel_horse, 1F3A1 ferris_wheel, 1F3A2 roller_coaster,
1F3A3 fishing_pole fishing_pole_and_fish, 1F3A4 microphone, 1F3A5 movie_camera, 1F3A6 cinema,
1F3A7 headphone headphones, 1F3A8 art artist_palette, 1F3A9 top_hat tophat, 1F3AA circus_tent,
1F3AB ticket, 1F3AC clapper clapper_board, 1F3AD performing_arts, 1F3AE video_game,
1F3AF dart direct_hit, 1F3B0 slot_machine, 1F3B1 8ball pool_8_ball, 1F3B2 game_die, 1F3B3 bowling,
1F3B4 flower_playing_cards, 1F3B5 musical_note, 1F3B6 musical_notes notes, 1F3B7 saxophone,
1F3B8 guitar, 1F3B9 musical_keyboard, 1F3BA trumpet, 1F3BB violin, 1F3BC musical_score,
1F3BD running_shirt running_shirt_with_sash, 1F3BE tennis, 1F3BF ski skis, 1F3C0 basketball,
1F3C1 checkered_flag chequered_flag, 1F3C2 ~snowboarder, 1F3C3 ~person_running runner running,
1F3C3-200D-2640-FE0F ~woman_running, 1F3C3-200D-2642-FE0F ~man_running,
1F3C4 ~person_surfing surfer, 1F3C4-200D-2640-FE0F ~woman_surfing,
1F3C4-200D-2642-FE0F ~man_surfing, 1F3C5 sports_medal, 1F3C6 trophy, 1F3C7 ~horse_racing,
1F3C8 american_football football, 1F3C9 rugby_football, 1F3CA ~person_swimming swimmer,
1F3CA-200D-2640-FE0F ~woman_swimming, 1F3CA-200D-2642-FE0F ~man_swimming,
1F3CB ~person_lifting_weights weight_lifter, 1F3CB-FE0F-200D-2640-FE0F ~woman_lifting_weights,
1F3CB-FE0F-200D-2642-FE0F ~man_lifting_weights, 1F3CC golfer ~person_golfing,
1F3CC-FE0F-200D-2640-FE0F ~woman_golfing, 1F3CC-FE0F-200D-2642-FE0F ~man_golfing,
1F3CD motorcycle racing_motorcycle, 1F3CE racing_car, 1F3CF cricket_bat_and_ball cricket_game,
1F3D0 volleyball, 1F3D1 field_hockey field_hockey_stick_and_ball,
1F3D2 ice_hockey ice_hockey_stick_and_puck, 1F3D3 ping_pong table_tennis_paddle_and_ball,
1F3D4 snow-capped_mountain snow_capped_mountain, 1F3D5 camping, 1F3D6 beach_with_umbrella,
1F3D7 building_construction, 1F3D8 house_buildings houses, 1F3D9 cityscape,
1F3DA derelict_house derelict_house_building, 1F3DB classical_building, 1F3DC desert,
1F3DD desert_island, 1F3DE national_park, 1F3DF stadium, 1F3E0 house, 1F3E1 house_with_garden,
1F3E2 office office_building, 1F3E3 japanese_post_office post_office, 1F3E4 european_post_office,
1F3E5 hospital, 1F3E6 bank, 1F3E7 atm atm_sign, 1F3E8 hotel, 1F3E9 love_hotel,
1F3EA convenience_store, 1F3EB school, 1F3EC department_store, 1F3ED factory,
1F3EE izakaya_lantern lantern red_paper_lantern, 1F3EF japanese_castle,
1F3F0 castle european_castle, 1F3F3 waving_white_flag white_flag,
1F3F3-FE0F-200D-1F308 rainbow_flag, 1F3F4 black_flag waving_black_flag,
1F3F4-200D-2620-FE0F pirate_flag, 1F3F4-E0067-E0062-E0065-E006E-E0067-E007F england,
1F3F4-E0067-E0062-E0073-E0063-E0074-E007F scotland,
1F3F4-E0067-E0062-E0077-E006C-E0073-E007F wales, 1F3F5 rosette, 1F3F7 label,
1F3F8 badminton badminton_racquet_and_shuttlecock, 1F3F9 bow_and_arrow, 1F3FA amphora,
1F3FB emoji_modifier_fitzpatrick_type__1__2 light_skin_tone,
1F3FC emoji_modifier_fitzpatrick_type__3 medium_light_skin_tone,
1F3FD emoji_modifier_fitzpatrick_type__4 medium_skin_tone,
1F3FE emoji_modifier_fitzpatrick_type__5 medium_dark_skin_tone,
1F3FF dark_skin_tone emoji_modifier_fitzpatrick_type__6, 1F400 rat, 1F401 mouse2, 1F402 ox,
1F403 water_buffalo, 1F404 cow2, 1F405 tiger2, 1F406 leopard, 1F407 rabbit2, 1F408 cat2,
1F409 dragon, 1F40A crocodile, 1F40B whale2, 1F40C snail, 1F40D snake, 1F40E racehorse, 1F40F ram,
1F410 goat, 1F411 ewe sheep, 1F412 monkey, 1F413 rooster, 1F414 chicken, 1F415 dog2,
1F415-200D-1F9BA service_dog, 1F416 pig2, 1F417 boar, 1F418 elephant, 1F419 octopus,
1F41A shell spiral_shell, 1F41B bug, 1F41C ant, 1F41D bee honeybee, 1F41E beetle lady_beetle,
1F41F fish, 1F420 tropical_fish, 1F421 blowfish, 1F422 turtle, 1F423 hatching_chick,
1F424 baby_chick, 1F425 front-facing_baby_chick hatched_chick, 1F426 bird, 1F427 penguin,
1F428 koala, 1F429 poodle, 1F42A dromedary_camel, 1F42B camel two-hump_camel,
1F42C dolphin flipper, 1F42D mouse mouse_face, 1F42E cow cow_face, 1F42F tiger tiger_face,
1F430 rabbit rabbit_face, 1F431 cat cat_face, 1F432 dragon_face, 1F433 spouting_whale whale,
1F434 horse horse_face, 1F435 monkey_face, 1F436 dog dog_face, 1F437 pig pig_face,
1F438 frog frog_face, 1F439 hamster hamster_face, 1F43A wolf wolf_face, 1F43B bear bear_face,
1F43C panda_face, 1F43D pig_nose, 1F43E feet paw_prints, 1F43F chipmunk, 1F440 eyes, 1F441 eye,
1F441-FE0F-200D-1F5E8-FE0F eye_in_speech_bubble, 1F442 ~ear, 1F443 ~nose, 1F444 lips mouth,
1F445 tongue, 1F446 ~backhand_index_pointing_up point_up_2,
1F447 ~backhand_index_pointing_down point_down, 1F448 ~backhand_index_pointing_left point_left,
1F449 ~backhand_index_pointing_right point_right, 1F44A facepunch ~oncoming_fist punch,
1F44B wave ~waving_hand, 1F44C ~ok_hand, 1F44D +1 ~thumbs_up thumbsup,
1F44E -1 __1 ~thumbs_down thumbsdown, 1F44F clap ~clapping_hands, 1F450 ~open_hands, 1F451 crown,
1F452 womans_hat woman’s_hat, 1F453 eyeglasses glasses, 1F454 necktie, 1F455 shirt t-shirt tshirt,
1F456 jeans, 1F457 dress, 1F458 kimono, 1F459 bikini, 1F45A womans_clothes woman’s_clothes,
1F45B purse, 1F45C handbag, 1F45D clutch_bag pouch, 1F45E mans_shoe man’s_shoe shoe,
1F45F athletic_shoe running_shoe, 1F460 high-heeled_shoe high_heel, 1F461 sandal woman’s_sandal,
1F462 boot woman’s_boot, 1F463 footprints, 1F464 bust_in_silhouette, 1F465 busts_in_silhouette,
1F466 ~boy, 1F467 ~girl, 1F468 ~man, 1F468-200D-2695-FE0F ~man_health_worker,
1F468-200D-2696-FE0F ~man_judge, 1F468-200D-2708-FE0F ~man_pilot,
1F468-200D-2764-FE0F-200D-1F468 couple_with_heart_man_man,
1F468-200D-2764-FE0F-200D-1F48B-200D-1F468 kiss_man_man, 1F468-200D-1F33E ~man_farmer,
1F468-200D-1F373 ~man_cook, 1F468-200D-1F393 ~man_student, 1F468-200D-1F3A4 ~man_singer,
1F468-200D-1F3A8 ~man_artist, 1F468-200D-1F3EB ~man_teacher, 1F468-200D-1F3ED ~man_factory_worker,
1F468-200D-1F466 family_man_boy, 1F468-200D-1F466-200D-1F466 family_man_boy_boy,
1F468-200D-1F467 family_man_girl, 1F468-200D-1F467-200D-1F466 family_man_girl_boy,
1F468-200D-1F467-200D-1F467 family_man_girl_girl, 1F468-200D-1F468-200D-1F466 family_man_man_boy,
1F468-200D-1F468-200D-1F466-200D-1F466 family_man_man_boy_boy,
1F468-200D-1F468-200D-1F467 family_man_man_girl,
1F468-200D-1F468-200D-1F467-200D-1F466 family_man_man_girl_boy,
1F468-200D-1F468-200D-1F467-200D-1F467 family_man_man_girl_girl,
1F468-200D-1F469-200D-1F466 family_man_woman_boy,
1F468-200D-1F469-200D-1F466-200D-1F466 family_man_woman_boy_boy,
1F468-200D-1F469-200D-1F467 family_man_woman_girl,
1F468-200D-1F469-200D-1F467-200D-1F466 family_man_woman_girl_boy,
1F468-200D-1F469-200D-1F467-200D-1F467 family_man_woman_girl_girl,
1F468-200D-1F4BB ~man_technologist, 1F468-200D-1F4BC ~man_office_worker,
1F468-200D-1F527 ~man_mechanic, 1F468-200D-1F52C ~man_scientist, 1F468-200D-1F680 ~man_astronaut,
1F468-200D-1F692 ~man_firefighter, 1F468-200D-1F9AF man_with_probing_cane,
1F468-200D-1F9B0 red-haired_man, 1F468-200D-1F9B1 curly-haired_man, 1F468-200D-1F9B2 bald_man,
1F468-200D-1F9B3 white-haired_man, 1F468-200D-1F9BC man_in_motorized_wheelchair,
1F468-200D-1F9BD man_in_manual_wheelchair, 1F469 ~woman, 1F469-200D-2695-FE0F ~woman_health_worker,
1F469-200D-2696-FE0F ~woman_judge, 1F469-200D-2708-FE0F ~woman_pilot,
1F469-200D-2764-FE0F-200D-1F468 couple_with_heart_woman_man,
1F469-200D-2764-FE0F-200D-1F469 couple_with_heart_woman_woman,
1F469-200D-2764-FE0F-200D-1F48B-200D-1F468 kiss_woman_man,
1F469-200D-2764-FE0F-200D-1F48B-200D-1F469 kiss_woman_woman, 1F469-200D-1F33E ~woman_farmer,
1F469-200D-1F373 ~woman_cook, 1F469-200D-1F393 ~woman_student, 1F469-200D-1F3A4 ~woman_singer,
1F469-200D-1F3A8 ~woman_artist, 1F469-200D-1F3EB ~woman_teacher,
1F469-200D-1F3ED ~woman_factory_worker, 1F469-200D-1F466 family_woman_boy,
1F469-200D-1F466-200D-1F466 family_woman_boy_boy, 1F469-200D-1F467 family_woman_girl,
1F469-200D-1F467-200D-1F466 family_woman_girl_boy,
1F469-200D-1F467-200D-1F467 family_woman_girl_girl,
1F469-200D-1F469-200D-1F466 family_woman_woman_boy,
1F469-200D-1F469-200D-1F466-200D-1F466 family_woman_woman_boy_boy,
1F469-200D-1F469-200D-1F467 family_woman_woman_girl,
1F469-200D-1F469-200D-1F467-200D-1F466 family_woman_woman_girl_boy,
1F469-200D-1F469-200D-1F467-200D-1F467 family_woman_woman_girl_girl,
1F469-200D-1F4BB ~woman_technologist, 1F469-200D-1F4BC ~woman_office_worker,
1F469-200D-1F527 ~woman_mechanic, 1F469-200D-1F52C ~woman_scientist,
1F469-200D-1F680 ~woman_astronaut, 1F469-200D-1F692 ~woman_firefighter,
1F469-200D-1F9AF woman_with_probing_cane, 1F469-200D-1F9B0 red-haired_woman,
1F469-200D-1F9B1 curly-haired_woman, 1F469-200D-1F9B2 bald_woman,
1F469-200D-1F9B3 white-haired_woman, 1F469-200D-1F9BC woman_in_motorized_wheelchair,
1F469-200D-1F9BD woman_in_manual_wheelchair, 1F46A family,
1F46B couple man_and_woman_holding_hands, 1F46C two_men_holding_hands,
1F46D two_women_holding_hands, 1F46E cop ~police_officer,
1F46E-200D-2640-FE0F ~woman_police_officer, 1F46E-200D-2642-FE0F ~man_police_officer,
1F46F dancers people_with_bunny_ears, 1F46F-200D-2640-FE0F women_with_bunny_ears,
1F46F-200D-2642-FE0F men_with_bunny_ears, 1F470 ~bride_with_veil,
1F471 ~blond-haired_person person_with_blond_hair, 1F471-200D-2640-FE0F ~blond-haired_woman,
1F471-200D-2642-FE0F ~blond-haired_man, 1F472 ~man_with_chinese_cap man_with_gua_pi_mao,
1F473 man_with_turban ~person_wearing_turban, 1F473-200D-2640-FE0F ~woman_wearing_turban,
1F473-200D-2642-FE0F ~man_wearing_turban, 1F474 ~old_man older_man, 1F475 ~old_woman older_woman,
1F476 ~baby, 1F477 ~construction_worker, 1F477-200D-2640-FE0F ~woman_construction_worker,
1F477-200D-2642-FE0F ~man_construction_worker, 1F478 ~princess, 1F479 japanese_ogre ogre,
1F47A goblin japanese_goblin, 1F47B ghost, 1F47C angel ~baby_angel, 1F47D alien,
1F47E alien_monster space_invader, 1F47F angry_face_with_horns imp, 1F480 skull,
1F481 information_desk_person ~person_tipping_hand, 1F481-200D-2640-FE0F ~woman_tipping_hand,
1F481-200D-2642-FE0F ~man_tipping_hand, 1F482 ~guard guardsman, 1F482-200D-2640-FE0F ~woman_guard,
1F482-200D-2642-FE0F ~man_guard, 1F483 dancer ~woman_dancing, 1F484 lipstick,
1F485 nail_care ~nail_polish, 1F486 massage ~person_getting_massage,
1F486-200D-2640-FE0F ~woman_getting_massage, 1F486-200D-2642-FE0F ~man_getting_massage,
1F487 haircut ~person_getting_haircut, 1F487-200D-2640-FE0F ~woman_getting_haircut,
1F487-200D-2642-FE0F ~man_getting_haircut, 1F488 barber barber_pole, 1F489 syringe, 1F48A pill,
1F48B kiss kiss_mark, 1F48C love_letter, 1F48D ring, 1F48E gem gem_stone, 1F48F couplekiss,
1F490 bouquet, 1F491 couple_with_heart, 1F492 wedding, 1F493 beating_heart heartbeat,
1F494 broken_heart, 1F495 two_hearts, 1F496 sparkling_heart, 1F497 growing_heart heartpulse,
1F498 cupid heart_with_arrow, 1F499 blue_heart, 1F49A green_heart, 1F49B yellow_heart,
1F49C purple_heart, 1F49D gift_heart heart_with_ribbon, 1F49E revolving_hearts,
1F49F heart_decoration, 1F4A0 diamond_shape_with_a_dot_inside diamond_with_a_dot,
1F4A1 bulb light_bulb, 1F4A2 anger anger_symbol, 1F4A3 bomb, 1F4A4 zzz, 1F4A5 boom collision,
1F4A6 sweat_droplets sweat_drops, 1F4A7 droplet, 1F4A8 dash dashing_away,
1F4A9 hankey pile_of_poo poop shit, 1F4AA ~flexed_biceps muscle, 1F4AB dizzy, 1F4AC speech_balloon,
1F4AD thought_balloon, 1F4AE white_flower, 1F4AF 100 hundred_points, 1F4B0 money_bag moneybag,
1F4B1 currency_exchange, 1F4B2 heavy_dollar_sign, 1F4B3 credit_card, 1F4B4 yen yen_banknote,
1F4B5 dollar dollar_banknote, 1F4B6 euro euro_banknote, 1F4B7 pound pound_banknote,
1F4B8 money_with_wings, 1F4B9 chart chart_increasing_with_yen, 1F4BA seat,
1F4BB computer laptop_computer, 1F4BC briefcase, 1F4BD computer_disk minidisc, 1F4BE floppy_disk,
1F4BF cd optical_disk, 1F4C0 dvd, 1F4C1 file_folder, 1F4C2 open_file_folder, 1F4C3 page_with_curl,
1F4C4 page_facing_up, 1F4C5 date, 1F4C6 calendar tear-off_calendar, 1F4C7 card_index,
1F4C8 chart_increasing chart_with_upwards_trend, 1F4C9 chart_decreasing chart_with_downwards_trend,
1F4CA bar_chart, 1F4CB clipboard, 1F4CC pushpin, 1F4CD round_pushpin, 1F4CE paperclip,
1F4CF straight_ruler, 1F4D0 triangular_ruler, 1F4D1 bookmark_tabs, 1F4D2 ledger, 1F4D3 notebook,
1F4D4 notebook_with_decorative_cover, 1F4D5 closed_book, 1F4D6 book open_book, 1F4D7 green_book,
1F4D8 blue_book, 1F4D9 orange_book, 1F4DA books, 1F4DB name_badge, 1F4DC scroll, 1F4DD memo pencil,
1F4DE telephone_receiver, 1F4DF pager, 1F4E0 fax fax_machine, 1F4E1 satellite satellite_antenna,
1F4E2 loudspeaker, 1F4E3 mega megaphone, 1F4E4 outbox_tray, 1F4E5 inbox_tray, 1F4E6 package,
1F4E7 e-mail e__mail, 1F4E8 incoming_envelope, 1F4E9 envelope_with_arrow,
1F4EA closed_mailbox_with_lowered_flag mailbox_closed,
1F4EB closed_mailbox_with_raised_flag mailbox,
1F4EC mailbox_with_mail open_mailbox_with_raised_flag,
1F4ED mailbox_with_no_mail open_mailbox_with_lowered_flag, 1F4EE postbox, 1F4EF postal_horn,
1F4F0 newspaper, 1F4F1 iphone mobile_phone, 1F4F2 calling mobile_phone_with_arrow,
1F4F3 vibration_mode, 1F4F4 mobile_phone_off, 1F4F5 no_mobile_phones,
1F4F6 antenna_bars signal_strength, 1F4F7 camera, 1F4F8 camera_with_flash, 1F4F9 video_camera,
1F4FA television tv, 1F4FB radio, 1F4FC vhs videocassette, 1F4FD film_projector,
1F4FF prayer_beads, 1F500 shuffle_tracks_button twisted_rightwards_arrows,
1F501 repeat repeat_button, 1F502 repeat_one repeat_single_button,
1F503 arrows_clockwise clockwise_vertical_arrows,
1F504 arrows_counterclockwise counterclockwise_arrows_button, 1F505 dim_button low_brightness,
1F506 bright_button high_brightness, 1F507 mute muted_speaker, 1F508 speaker speaker_low_volume,
1F509 sound speaker_medium_volume, 1F50A loud_sound speaker_high_volume, 1F50B battery,
1F50C electric_plug, 1F50D mag magnifying_glass_tilted_left,
1F50E mag_right magnifying_glass_tilted_right, 1F50F lock_with_ink_pen locked_with_pen,
1F510 closed_lock_with_key locked_with_key, 1F511 key, 1F512 lock locked, 1F513 unlock unlocked,
1F514 bell, 1F515 bell_with_slash no_bell, 1F516 bookmark, 1F517 link, 1F518 radio_button,
1F519 back back_arrow, 1F51A end end_arrow, 1F51B on on!_arrow, 1F51C soon soon_arrow,
1F51D top top_arrow, 1F51E no_one_under_eighteen underage, 1F51F keycap_10 ten,
1F520 capital_abcd input_latin_uppercase, 1F521 abcd input_latin_lowercase,
1F522 1234 input_numbers, 1F523 input_symbols symbols, 1F524 abc input_latin_letters, 1F525 fire,
1F526 flashlight, 1F527 wrench, 1F528 hammer, 1F529 nut_and_bolt, 1F52A hocho kitchen_knife knife,
1F52B gun pistol, 1F52C microscope, 1F52D telescope, 1F52E crystal_ball,
1F52F dotted_six-pointed_star six_pointed_star, 1F530 beginner japanese_symbol_for_beginner,
1F531 trident trident_emblem, 1F532 black_square_button, 1F533 white_square_button,
1F534 red_circle, 1F535 blue_circle large_blue_circle, 1F536 large_orange_diamond,
1F537 large_blue_diamond, 1F538 small_orange_diamond, 1F539 small_blue_diamond,
1F53A red_triangle_pointed_up small_red_triangle,
1F53B red_triangle_pointed_down small_red_triangle_down, 1F53C arrow_up_small upwards_button,
1F53D arrow_down_small downwards_button, 1F549 om om_symbol, 1F54A dove dove_of_peace, 1F54B kaaba,
1F54C mosque, 1F54D synagogue, 1F54E menorah menorah_with_nine_branches, 1F550 clock1 one_o’clock,
1F551 clock2 two_o’clock, 1F552 clock3 three_o’clock, 1F553 clock4 four_o’clock,
1F554 clock5 five_o’clock, 1F555 clock6 six_o’clock, 1F556 clock7 seven_o’clock,
1F557 clock8 eight_o’clock, 1F558 clock9 nine_o’clock, 1F559 clock10 ten_o’clock,
1F55A clock11 eleven_o’clock, 1F55B clock12 twelve_o’clock, 1F55C clock130 one-thirty,
1F55D clock230 two-thirty, 1F55E clock330 three-thirty, 1F55F clock430 four-thirty,
1F560 clock530 five-thirty, 1F561 clock630 six-thirty, 1F562 clock730 seven-thirty,
1F563 clock830 eight-thirty, 1F564 clock930 nine-thirty, 1F565 clock1030 ten-thirty,
1F566 clock1130 eleven-thirty, 1F567 clock1230 twelve-thirty, 1F56F candle,
1F570 mantelpiece_clock, 1F573 hole, 1F574 man_in_business_suit_levitating ~man_in_suit_levitating,
1F575 ~detective sleuth_or_spy, 1F575-FE0F-200D-2640-FE0F ~woman_detective,
1F575-FE0F-200D-2642-FE0F ~man_detective, 1F576 dark_sunglasses, 1F577 spider, 1F578 spider_web,
1F579 joystick, 1F57A ~man_dancing, 1F587 linked_paperclips, 1F58A lower_left_ballpoint_pen pen,
1F58B fountain_pen lower_left_fountain_pen, 1F58C lower_left_paintbrush paintbrush,
1F58D crayon lower_left_crayon, 1F590 ~hand_with_fingers_splayed raised_hand_with_fingers_splayed,
1F595 ~middle_finger reversed_hand_with_middle_finger_extended,
1F596 raised_hand_with_part_between_middle_and_ring_fingers ~vulcan_salute, 1F5A4 black_heart,
1F5A5 desktop_computer, 1F5A8 printer, 1F5B1 computer_mouse three_button_mouse, 1F5B2 trackball,
1F5BC frame_with_picture framed_picture, 1F5C2 card_index_dividers, 1F5C3 card_file_box,
1F5C4 file_cabinet, 1F5D1 wastebasket, 1F5D2 spiral_note_pad spiral_notepad,
1F5D3 spiral_calendar spiral_calendar_pad, 1F5DC clamp compression, 1F5DD old_key,
1F5DE rolled-up_newspaper rolled__up_newspaper, 1F5E1 dagger dagger_knife,
1F5E3 speaking_head speaking_head_in_silhouette, 1F5E8 left_speech_bubble,
1F5EF right_anger_bubble, 1F5F3 ballot_box_with_ballot, 1F5FA world_map, 1F5FB mount_fuji,
1F5FC tokyo_tower, 1F5FD statue_of_liberty, 1F5FE japan map_of_japan, 1F5FF moai moyai,
1F600 grinning grinning_face, 1F601 beaming_face_with_smiling_eyes grin,
1F602 face_with_tears_of_joy joy, 1F603 grinning_face_with_big_eyes smiley,
1F604 grinning_face_with_smiling_eyes smile, 1F605 grinning_face_with_sweat sweat_smile,
1F606 grinning_squinting_face laughing satisfied, 1F607 innocent smiling_face_with_halo,
1F608 smiling_face_with_horns smiling_imp, 1F609 wink winking_face,
1F60A blush smiling_face_with_smiling_eyes, 1F60B face_savoring_food yum,
1F60C relieved relieved_face, 1F60D heart_eyes smiling_face_with_heart-eyes,
1F60E smiling_face_with_sunglasses sunglasses, 1F60F smirk smirking_face, 1F610 neutral_face,
1F611 expressionless expressionless_face, 1F612 unamused unamused_face,
1F613 downcast_face_with_sweat sweat, 1F614 pensive pensive_face, 1F615 confused confused_face,
1F616 confounded confounded_face, 1F617 kissing kissing_face,
1F618 face_blowing_a_kiss kissing_heart, 1F619 kissing_face_with_smiling_eyes kissing_smiling_eyes,
1F61A kissing_closed_eyes kissing_face_with_closed_eyes, 1F61B face_with_tongue stuck_out_tongue,
1F61C stuck_out_tongue_winking_eye winking_face_with_tongue,
1F61D squinting_face_with_tongue stuck_out_tongue_closed_eyes,
1F61E disappointed disappointed_face, 1F61F worried worried_face, 1F620 angry angry_face,
1F621 pouting_face rage, 1F622 cry crying_face, 1F623 persevere persevering_face,
1F624 face_with_steam_from_nose triumph, 1F625 disappointed_relieved sad_but_relieved_face,
1F626 frowning frowning_face_with_open_mouth, 1F627 anguished anguished_face,
1F628 fearful fearful_face, 1F629 weary weary_face, 1F62A sleepy sleepy_face, 1F62B tired_face,
1F62C grimacing grimacing_face, 1F62D loudly_crying_face sob,
1F62E face_with_open_mouth open_mouth, 1F62F hushed hushed_face,
1F630 anxious_face_with_sweat cold_sweat, 1F631 face_screaming_in_fear scream,
1F632 astonished astonished_face, 1F633 flushed flushed_face, 1F634 sleeping sleeping_face,
1F635 dizzy_face, 1F636 face_without_mouth no_mouth, 1F637 face_with_medical_mask mask,
1F638 grinning_cat_face_with_smiling_eyes smile_cat, 1F639 cat_face_with_tears_of_joy joy_cat,
1F63A grinning_cat_face smiley_cat, 1F63B heart_eyes_cat smiling_cat_face_with_heart-eyes,
1F63C cat_face_with_wry_smile smirk_cat, 1F63D kissing_cat kissing_cat_face,
1F63E pouting_cat pouting_cat_face, 1F63F crying_cat_face, 1F640 scream_cat weary_cat_face,
1F641 slightly_frowning_face, 1F642 slightly_smiling_face,
1F643 upside-down_face upside__down_face, 1F644 face_with_rolling_eyes,
1F645 no_good ~person_gesturing_no, 1F645-200D-2640-FE0F ~woman_gesturing_no,
1F645-200D-2642-FE0F ~man_gesturing_no, 1F646 ok_woman ~person_gesturing_ok,
1F646-200D-2640-FE0F ~woman_gesturing_ok, 1F646-200D-2642-FE0F ~man_gesturing_ok,
1F647 bow ~person_bowing, 1F647-200D-2640-FE0F ~woman_bowing, 1F647-200D-2642-FE0F ~man_bowing,
1F648 see-no-evil_monkey see_no_evil, 1F649 hear-no-evil_monkey hear_no_evil,
1F64A speak-no-evil_monkey speak_no_evil, 1F64B ~person_raising_hand raising_hand,
1F64B-200D-2640-FE0F ~woman_raising_hand, 1F64B-200D-2642-FE0F ~man_raising_hand,
1F64C raised_hands ~raising_hands, 1F64D ~person_frowning, 1F64D-200D-2640-FE0F ~woman_frowning,
1F64D-200D-2642-FE0F ~man_frowning, 1F64E ~person_pouting person_with_pouting_face,
1F64E-200D-2640-FE0F ~woman_pouting, 1F64E-200D-2642-FE0F ~man_pouting, 1F64F ~folded_hands pray,
1F680 rocket, 1F681 helicopter, 1F682 locomotive steam_locomotive, 1F683 railway_car,
1F684 bullettrain_side high-speed_train, 1F685 bullet_train bullettrain_front, 1F686 train2,
1F687 metro, 1F688 light_rail, 1F689 station, 1F68A tram, 1F68B train tram_car, 1F68C bus,
1F68D oncoming_bus, 1F68E trolleybus, 1F68F bus_stop busstop, 1F690 minibus, 1F691 ambulance,
1F692 fire_engine, 1F693 police_car, 1F694 oncoming_police_car, 1F695 taxi, 1F696 oncoming_taxi,
1F697 automobile car red_car, 1F698 oncoming_automobile, 1F699 blue_car sport_utility_vehicle,
1F69A delivery_truck truck, 1F69B articulated_lorry, 1F69C tractor, 1F69D monorail,
1F69E mountain_railway, 1F69F suspension_railway, 1F6A0 mountain_cableway, 1F6A1 aerial_tramway,
1F6A2 ship, 1F6A3 ~person_rowing_boat rowboat, 1F6A3-200D-2640-FE0F ~woman_rowing_boat,
1F6A3-200D-2642-FE0F ~man_rowing_boat, 1F6A4 speedboat,
1F6A5 horizontal_traffic_light traffic_light, 1F6A6 vertical_traffic_light, 1F6A7 construction,
1F6A8 police_car_light rotating_light, 1F6A9 triangular_flag triangular_flag_on_post, 1F6AA door,
1F6AB no_entry_sign prohibited, 1F6AC cigarette smoking, 1F6AD no_smoking,
1F6AE litter_in_bin_sign put_litter_in_its_place, 1F6AF do_not_litter no_littering,
1F6B0 potable_water, 1F6B1 non-potable_water non__potable_water, 1F6B2 bicycle bike,
1F6B3 no_bicycles, 1F6B4 bicyclist ~person_biking, 1F6B4-200D-2640-FE0F ~woman_biking,
1F6B4-200D-2642-FE0F ~man_biking, 1F6B5 mountain_bicyclist ~person_mountain_biking,
1F6B5-200D-2640-FE0F ~woman_mountain_biking, 1F6B5-200D-2642-FE0F ~man_mountain_biking,
1F6B6 ~person_walking walking, 1F6B6-200D-2640-FE0F ~woman_walking,
1F6B6-200D-2642-FE0F ~man_walking, 1F6B7 no_pedestrians, 1F6B8 children_crossing,
1F6B9 mens men’s_room, 1F6BA womens women’s_room, 1F6BB restroom, 1F6BC baby_symbol, 1F6BD toilet,
1F6BE water_closet wc, 1F6BF shower, 1F6C0 bath ~person_taking_bath, 1F6C1 bathtub,
1F6C2 passport_control, 1F6C3 customs, 1F6C4 baggage_claim, 1F6C5 left_luggage,
1F6CB couch_and_lamp, 1F6CC ~person_in_bed sleeping_accommodation, 1F6CD shopping_bags,
1F6CE bellhop_bell, 1F6CF bed, 1F6D0 place_of_worship, 1F6D1 stop_sign, 1F6D2 shopping_cart,
1F6D5 hindu_temple, 1F6E0 hammer_and_wrench, 1F6E1 shield, 1F6E2 oil_drum, 1F6E3 motorway,
1F6E4 railway_track, 1F6E5 motor_boat, 1F6E9 small_airplane, 1F6EB airplane_departure,
1F6EC airplane_arrival airplane_arriving, 1F6F3 passenger_ship, 1F6F4 kick_scooter,
1F6F5 motor_scooter, 1F6F6 canoe, 1F6F7 sled, 1F6F8 flying_saucer, 1F6F9 skateboard,
1F6FA auto_rickshaw, 1F7E0 orange_circle, 1F7E1 yellow_circle, 1F7E2 green_circle,
1F7E3 purple_circle, 1F7E4 brown_circle, 1F7E5 red_square, 1F7E6 blue_square, 1F7E7 orange_square,
1F7E8 yellow_square, 1F7E9 green_square, 1F7EA purple_square, 1F7EB brown_square,
1F90D white_heart, 1F90E brown_heart, 1F90F pinching_hand,
1F910 zipper-mouth_face zipper__mouth_face, 1F911 money-mouth_face money__mouth_face,
1F912 face_with_thermometer, 1F913 nerd_face, 1F914 thinking_face,
1F915 face_with_head-bandage face_with_head__bandage, 1F916 robot robot_face, 1F917 hugging_face,
1F918 ~sign_of_the_horns, 1F919 ~call_me_hand, 1F91A ~raised_back_of_hand, 1F91B ~left-facing_fist,
1F91C ~right-facing_fist, 1F91D handshake, 1F91E ~crossed_fingers, 1F91F ~love-you_gesture,
1F920 cowboy_hat_face, 1F921 clown_face, 1F922 nauseated_face, 1F923 rolling_on_the_floor_laughing,
1F924 drooling_face, 1F925 lying_face, 1F926 ~person_facepalming,
1F926-200D-2640-FE0F ~woman_facepalming, 1F926-200D-2642-FE0F ~man_facepalming,
1F927 sneezing_face, 1F928 face_with_raised_eyebrow, 1F929 star-struck, 1F92A zany_face,
1F92B shushing_face, 1F92C face_with_symbols_on_mouth, 1F92D face_with_hand_over_mouth,
1F92E face_vomiting, 1F92F exploding_head, 1F930 ~pregnant_woman, 1F931 ~breast-feeding,
1F932 ~palms_up_together, 1F933 ~selfie, 1F934 ~prince, 1F935 ~man_in_tuxedo, 1F936 ~mrs._claus,
1F937 ~person_shrugging, 1F937-200D-2640-FE0F ~woman_shrugging,
1F937-200D-2642-FE0F ~man_shrugging, 1F938 ~person_cartwheeling,
1F938-200D-2640-FE0F ~woman_cartwheeling, 1F938-200D-2642-FE0F ~man_cartwheeling,
1F939 ~person_juggling, 1F939-200D-2640-FE0F ~woman_juggling, 1F939-200D-2642-FE0F ~man_juggling,
1F93A person_fencing, 1F93C people_wrestling, 1F93C-200D-2640-FE0F women_wrestling,
1F93C-200D-2642-FE0F men_wrestling, 1F93D ~person_playing_water_polo,
1F93D-200D-2640-FE0F ~woman_playing_water_polo, 1F93D-200D-2642-FE0F ~man_playing_water_polo,
1F93E ~person_playing_handball, 1F93E-200D-2640-FE0F ~woman_playing_handball,
1F93E-200D-2642-FE0F ~man_playing_handball, 1F93F diving_mask, 1F940 wilted_flower, 1F941 drum,
1F942 clinking_glasses, 1F943 tumbler_glass, 1F944 spoon, 1F945 goal_net, 1F947 1st_place_medal,
1F948 2nd_place_medal, 1F949 3rd_place_medal, 1F94A boxing_glove, 1F94B martial_arts_uniform,
1F94C curling_stone, 1F94D lacrosse, 1F94E softball, 1F94F flying_disc, 1F950 croissant,
1F951 avocado, 1F952 cucumber, 1F953 bacon, 1F954 potato, 1F955 carrot, 1F956 baguette_bread,
1F957 green_salad, 1F958 shallow_pan_of_food, 1F959 stuffed_flatbread, 1F95B glass_of_milk,
1F95C peanuts, 1F95D kiwi_fruit, 1F95E pancakes, 1F95F dumpling, 1F960 fortune_cookie,
1F961 takeout_box, 1F962 chopsticks, 1F963 bowl_with_spoon, 1F964 cup_with_straw, 1F965 coconut,
1F966 broccoli, 1F967 pie, 1F968 pretzel, 1F969 cut_of_meat, 1F96A sandwich, 1F96B canned_food,
1F96C leafy_green, 1F96D mango, 1F96E moon_cake, 1F96F bagel, 1F970 smiling_face_with_3_hearts,
1F971 yawning_face, 1F973 partying_face, 1F974 woozy_face, 1F975 hot_face, 1F976 cold_face,
1F97A pleading_face, 1F97B sari, 1F97C lab_coat, 1F97D goggles, 1F97E hiking_boot, 1F97F flat_shoe,
1F980 crab, 1F981 lion_face, 1F982 scorpion, 1F983 turkey, 1F984 unicorn_face, 1F985 eagle,
1F986 duck, 1F987 bat, 1F988 shark, 1F989 owl, 1F98A fox_face, 1F98B butterfly, 1F98C deer,
1F98D gorilla, 1F98E lizard, 1F98F rhinoceros, 1F990 shrimp, 1F991 squid, 1F992 giraffe,
1F993 zebra, 1F994 hedgehog, 1F995 sauropod, 1F996 t-rex, 1F997 cricket, 1F998 kangaroo,
1F999 llama, 1F99A peacock, 1F99B hippopotamus, 1F99C parrot, 1F99D raccoon, 1F99E lobster,
1F99F mosquito, 1F9A0 microbe, 1F9A1 badger, 1F9A2 swan, 1F9A5 sloth, 1F9A6 otter, 1F9A7 orangutan,
1F9A8 skunk, 1F9A9 flamingo, 1F9AA oyster, 1F9AE guide_dog, 1F9AF probing_cane, 1F9B0 red_hair,
1F9B1 curly_hair, 1F9B2 bald, 1F9B3 white_hair, 1F9B4 bone, 1F9B5 leg, 1F9B6 foot, 1F9B7 tooth,
1F9B8 superhero, 1F9B9 supervillain, 1F9BA safety_vest, 1F9BB ear_with_hearing_aid,
1F9BC motorized_wheelchair, 1F9BD manual_wheelchair, 1F9BE mechanical_arm, 1F9BF mechanical_leg,
1F9C0 cheese_wedge, 1F9C1 cupcake, 1F9C2 salt, 1F9C3 beverage_box, 1F9C4 garlic, 1F9C5 onion,
1F9C6 falafel, 1F9C7 waffle, 1F9C8 butter, 1F9C9 mate, 1F9CA ice, 1F9CD person_standing,
1F9CE person_kneeling, 1F9CF deaf_person, 1F9D0 face_with_monocle, 1F9D1 ~adult,
1F9D1-200D-1F91D-200D-1F9D1 people_holding_hands, 1F9D2 ~child, 1F9D3 ~older_adult,
1F9D4 ~bearded_person, 1F9D5 ~woman_with_headscarf, 1F9D6 ~person_in_steamy_room,
1F9D6-200D-2640-FE0F ~woman_in_steamy_room, 1F9D6-200D-2642-FE0F ~man_in_steamy_room,
1F9D7 ~person_climbing, 1F9D7-200D-2640-FE0F ~woman_climbing, 1F9D7-200D-2642-FE0F ~man_climbing,
1F9D8 ~person_in_lotus_position, 1F9D8-200D-2640-FE0F ~woman_in_lotus_position,
1F9D8-200D-2642-FE0F ~man_in_lotus_position, 1F9D9 ~mage, 1F9D9-200D-2640-FE0F ~woman_mage,
1F9D9-200D-2642-FE0F ~man_mage, 1F9DA ~fairy, 1F9DA-200D-2640-FE0F ~woman_fairy,
1F9DA-200D-2642-FE0F ~man_fairy, 1F9DB ~vampire, 1F9DB-200D-2640-FE0F ~woman_vampire,
1F9DB-200D-2642-FE0F ~man_vampire, 1F9DC ~merperson, 1F9DC-200D-2640-FE0F ~mermaid,
1F9DC-200D-2642-FE0F ~merman, 1F9DD ~elf, 1F9DD-200D-2640-FE0F ~woman_elf,
1F9DD-200D-2642-FE0F ~man_elf, 1F9DE genie, 1F9DE-200D-2640-FE0F woman_genie,
1F9DE-200D-2642-FE0F man_genie, 1F9DF zombie, 1F9DF-200D-2640-FE0F woman_zombie,
1F9DF-200D-2642-FE0F man_zombie, 1F9E0 brain, 1F9E1 orange_heart, 1F9E2 billed_cap, 1F9E3 scarf,
1F9E4 gloves, 1F9E5 coat, 1F9E6 socks, 1F9E7 red_envelope, 1F9E8 firecracker, 1F9E9 jigsaw,
1F9EA test_tube, 1F9EB petri_dish, 1F9EC dna, 1F9ED compass, 1F9EE abacus, 1F9EF fire_extinguisher,
1F9F0 toolbox, 1F9F1 brick, 1F9F2 magnet, 1F9F3 luggage, 1F9F4 lotion_bottle, 1F9F5 thread,
1F9F6 yarn, 1F9F7 safety_pin, 1F9F8 teddy_bear, 1F9F9 broom, 1F9FA basket, 1F9FB roll_of_paper,
1F9FC soap, 1F9FD sponge, 1F9FE receipt, 1F9FF nazar_amulet, 1FA70 ballet_shoes,
1FA71 one-piece_swimsuit, 1FA72 briefs, 1FA73 shorts, 1FA78 drop_of_blood, 1FA79 adhesive_bandage,
1FA7A stethoscope, 1FA80 yo-yo, 1FA81 kite, 1FA90 ringed_planet, 1FA91 chair, 1FA92 razor,
1FA93 axe, 1FA94 diya_lamp, 1FA95 banjo"

end Shortcode
end SpiceKit
